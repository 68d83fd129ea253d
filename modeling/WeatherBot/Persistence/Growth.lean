import WeatherBot.Persistence.Append
import WeatherBot.Persistence.Decisions

/-!
# The table of events over a run

What the rows of `ledger_events` are after any appends, whether or not the ledger
still loads.

* `Represents`: the rows are those of a list of events that the reducers accept.
* `represents_of_appendEventsLocked`: **an append extends the list**.
* `Represents.loads_iff`: the ledger loads iff no payout of the list has a blank outcome.
-/

namespace WeatherBot.Persistence

open WeatherBot.Common
open WeatherBot.Domain

/-! ## Order intents -/

/-- The intent event, if it is one. -/
def intentEvent? : LedgerEvent → Option OrderIntentCreated
  | .orderIntentCreated e => some e
  | _ => none

/-- The order intents among the events. -/
def intentsOf (events : List LedgerEvent) : List OrderIntentCreated := events.filterMap intentEvent?

theorem mem_intentsOf {events : List LedgerEvent} {e : OrderIntentCreated} :
    e ∈ intentsOf events ↔ .orderIntentCreated e ∈ events := by
  rw [intentsOf, List.mem_filterMap]
  constructor
  · rintro ⟨event, hevent, h⟩
    cases event with
    | orderIntentCreated e' =>
      cases h
      exact hevent
    | _ => cases h
  · exact fun h => ⟨_, h, rfl⟩

theorem intentsOf_append (events events' : List LedgerEvent) :
    intentsOf (events ++ events') = intentsOf events ++ intentsOf events' :=
  List.filterMap_append

/-! ## What the rows represent -/

/-- The row of a checkpoint, apart from its key. -/
def StateCheckpoint.row (c : StateCheckpoint) : CheckpointRow :=
  ⟨.text c.chainHash, .text c.stateHash, .text c.createdAt⟩

section

variable (rt : Runtime)

/-- The state after the events, from the empty ledger of the store. -/
def Replays (events : List LedgerEvent) (s : LedgerState) : Prop :=
  applyEvents rt (.fresh (rt.upper.normalize "USDC")) events = .ok s

/-- The hash that the chain ends with. -/
def tailHash (events : List LedgerEvent) : String := events.foldl (linkHash rt) genesisChainHash

/-- A checkpoint of the replay of a prefix of the events. -/
def CheckpointOf (events : List LedgerEvent) (c : StateCheckpoint) : Prop :=
  ∃ n s, c.sequence = (n : ℕ) ∧ n ≤ events.length ∧ Replays rt (events.take n) s ∧
    c.chainHash = tailHash rt (events.take n) ∧ c.stateHash = stateFingerprint rt s

/-- The rows and the checkpoints are those of events that the reducers accept one after the
other. -/
structure Represents (db : Db) (events : List LedgerEvent) : Prop where
  rows : db.ledgerEvents = rowsFrom rt 0 genesisChainHash events
  constructible : ∀ e ∈ events, e.Constructible rt
  replay : ∃ s, Replays rt events s
  readable : ∀ e ∈ events, PayoutsNamed (payoutsOf e) → Readable e
  intents : ((intentsOf events).map fun e => e.intent.intentId).Nodup
  checkpoints : ∀ entry ∈ db.stateCheckpoints.entries,
    ∃ c, CheckpointOf rt events c ∧ entry = (c.sequence, c.row)

/-- The accumulator of a batch is where the events end. -/
structure AppendResult.Tracks (acc : AppendResult) (events : List LedgerEvent) : Prop where
  state : Replays rt events acc.state
  lastSequence : acc.lastSequence = events.length
  chainHash : acc.chainHash = tailHash rt events

end

variable {rt : Runtime} {db db' : Db} {events : List LedgerEvent}

theorem represents_empty : Represents rt Db.empty [] where
  rows := rfl
  constructible := fun _ h => absurd h List.not_mem_nil
  replay := ⟨_, rfl⟩
  readable := fun _ h => absurd h List.not_mem_nil
  intents := List.nodup_nil
  checkpoints := fun _ h => absurd h List.not_mem_nil

/-- Only the ledger and the checkpoints matter. -/
theorem Represents.of_tables (h : Represents rt db events) (hrows : db'.ledgerEvents = db.ledgerEvents)
    (hcheckpoints : db'.stateCheckpoints = db.stateCheckpoints) : Represents rt db' events where
  rows := hrows.trans h.rows
  constructible := h.constructible
  replay := h.replay
  readable := h.readable
  intents := h.intents
  checkpoints := by
    rw [hcheckpoints]
    exact h.checkpoints

/-- Every event has its row. -/
theorem exists_eventRow {event : LedgerEvent} (h : event ∈ events) (sequence : ℤ)
    (previousHash : String) :
    ∃ n previous, eventRow rt n previous event ∈ rowsFrom rt sequence previousHash events := by
  induction events generalizing sequence previousHash with
  | nil => cases h
  | cons e events ih =>
    rcases List.mem_cons.mp h with rfl | h
    · exact ⟨_, _, List.mem_cons_self⟩
    · obtain ⟨n, previous, hrow⟩ := ih h (sequence + 1) (linkHash rt previousHash e)
      exact ⟨n, previous, List.mem_cons_of_mem _ hrow⟩

theorem Represents.row_of_mem (h : Represents rt db events) {event : LedgerEvent}
    (hevent : event ∈ events) : ∃ n previous, eventRow rt n previous event ∈ db.ledgerEvents := by
  rw [h.rows]
  exact exists_eventRow hevent 0 genesisChainHash

theorem Represents.mem_of_row (h : Represents rt db events) {row : EventRow}
    (hrow : row ∈ db.ledgerEvents) :
    ∃ e ∈ events, ∃ previous, row = eventRow rt row.sequence previous e := by
  rw [h.rows] at hrow
  obtain ⟨e, he, previous, heq, -⟩ := mem_rowsFrom hrow
  exact ⟨e, he, previous, heq⟩

/-- The type of an event is that of its row. -/
theorem eventType_eq_intent {event : LedgerEvent}
    (h : (encodeEvent rt event).eventType = EventType.orderIntentCreated.value) :
    ∃ e, event = .orderIntentCreated e := by
  have htype := EventType.value_inj h
  cases event with
  | orderIntentCreated e => exact ⟨e, rfl⟩
  | _ => cases htype

theorem Represents.intentEventLocked_eq_some (h : Represents rt db events) {intentId : String}
    {row : EventRow} (hrow : intentEventLocked db intentId = some row) :
    ∃ e ∈ intentsOf events, e.intent.intentId = intentId ∧
      row.payloadJson = .text (encodeEvent rt (.orderIntentCreated e)).payloadJson := by
  have hcolumns := List.find?_some hrow
  rw [decide_eq_true_eq] at hcolumns
  obtain ⟨event, hevent, previous, heq⟩ := h.mem_of_row (List.mem_of_find?_eq_some hrow)
  rw [heq] at hcolumns ⊢
  obtain ⟨e, rfl⟩ := eventType_eq_intent (SqlValue.text.inj hcolumns.1)
  exact ⟨e, mem_intentsOf.mpr hevent, SqlValue.text.inj hcolumns.2, rfl⟩

theorem Represents.intentEventLocked_eq_none (h : Represents rt db events) {intentId : String} :
    intentEventLocked db intentId = none ↔ ∀ e ∈ intentsOf events, e.intent.intentId ≠ intentId := by
  constructor
  · intro hnone e he heq
    obtain ⟨n, previous, hrow⟩ := h.row_of_mem (mem_intentsOf.mp he)
    refine absurd (List.find?_eq_none.mp hnone _ hrow) (not_not.mpr ?_)
    rw [decide_eq_true_eq, ← heq]
    exact ⟨rfl, rfl⟩
  · intro hall
    cases hrow : intentEventLocked db intentId with
    | none => rfl
    | some row =>
      obtain ⟨e, he, heq, -⟩ := h.intentEventLocked_eq_some hrow
      exact absurd heq (hall e he)

/-- Two constructed events with one payload are the same, if one of them is read back. -/
theorem eq_of_payload {event event' : LedgerEvent} (hc : event.Constructible rt)
    (hc' : event'.Constructible rt) (hreadable : Readable event)
    (h : (encodeEvent rt event').payloadJson = (encodeEvent rt event).payloadJson) : event' = event := by
  have hdecode := (decodeEvent_encodeEvent hc).mpr ⟨hreadable, rfl⟩
  rw [← h] at hdecode
  exact ((decodeEvent_encodeEvent hc').mp hdecode).2.symm

theorem readable_intent (e : OrderIntentCreated) : Readable (.orderIntentCreated e) :=
  fun _ h => absurd h List.not_mem_nil

/-! ## Appending -/

theorem CheckpointOf.append {c : StateCheckpoint} (h : CheckpointOf rt events c)
    (new : List LedgerEvent) : CheckpointOf rt (events ++ new) c := by
  obtain ⟨n, s, hn, hle, h⟩ := h
  refine ⟨n, s, hn, ?_, ?_⟩
  · rw [List.length_append]
    omega
  · rwa [List.take_append_of_le_length hle]

theorem Replays.snoc {s s' : LedgerState} {event : LedgerEvent} (h : Replays rt events s)
    (hevent : applyEvent rt s event = .ok s') : Replays rt (events ++ [event]) s' :=
  foldlM_append_eq_ok.mpr ⟨s, h, foldlM_cons_eq_ok.mpr ⟨s', hevent, rfl⟩⟩

theorem tailHash_snoc (rt : Runtime) (events : List LedgerEvent) (event : LedgerEvent) :
    tailHash rt (events ++ [event]) = linkHash rt (tailHash rt events) event := by
  rw [tailHash, List.foldl_append]
  rfl

/-- What an append makes of a database: the same other tables, and more events. -/
structure Extends (rt : Runtime) (db db' : Db) (events new batch : List LedgerEvent) : Prop where
  represents : Represents rt db' (events ++ new)
  tables : db' = { db with ledgerEvents := db'.ledgerEvents }
  sublist : new.Sublist batch
  stored : ∀ e ∈ batch, Readable e → e ∈ events ++ new

section Append

variable {env : Env} {allowed : Bool} {acc acc' : AppendResult} {event : LedgerEvent}

/-- A new event that the reducers accept gets the next row. -/
theorem Represents.snoc (h : Represents rt db events) (htracks : acc.Tracks rt events)
    (hc : event.Constructible rt) (hexisting : existingEventLocked db event.eventId = none)
    (hprior : checkPriorIntent db event = .ok ()) {state : LedgerState}
    (hstate : applyEvent rt acc.state event = .ok state) :
    Represents rt { db with ledgerEvents := insertBySequence (acc.row rt event) db.ledgerEvents }
      (events ++ [event]) ∧ (acc.advance rt event state).Tracks rt (events ++ [event]) := by
  have hlast : ∀ r ∈ db.ledgerEvents, r.sequence < (acc.row rt event).sequence := by
    intro r hr
    rw [h.rows] at hr
    obtain ⟨-, -, -, -, -, hle⟩ := mem_rowsFrom hr
    rw [zero_add, ← htracks.lastSequence] at hle
    exact Int.lt_add_one_of_le hle
  have hnew : event ∉ events := by
    intro hmem
    obtain ⟨n, previous, hrow⟩ := h.row_of_mem hmem
    exact existingEventLocked_eq_none.mp hexisting _ hrow rfl
  constructor
  · exact {
      rows := by
        rw [insertBySequence_of_lt hlast, rowsFrom_append, ← h.rows, zero_add, ← htracks.lastSequence]
        show _ = _ ++ [eventRow rt (acc.lastSequence + 1) (tailHash rt events) event]
        rw [← htracks.chainHash]
        rfl
      constructible := List.forall_mem_append.mpr ⟨h.constructible, List.forall_mem_singleton.mpr hc⟩
      replay := ⟨state, htracks.state.snoc hstate⟩
      readable := by
        refine List.forall_mem_append.mpr ⟨h.readable, List.forall_mem_singleton.mpr fun hpayouts => ?_⟩
        have hinv := Ledger.applyEvents_invariants (Ledger.invariants_fresh _) htracks.state
        rcases applyEvent_eq_ok.mp hstate with ⟨hrecorded, -⟩ | ⟨-, next, hnext, -, -⟩
        · rcases Ledger.mem_of_eventFingerprint (Ledger.invariants_fresh _) htracks.state hrecorded
            with hmem | hfp
          · obtain ⟨e, he, hid⟩ := List.mem_map.mp hmem
            obtain ⟨n, previous, hrow⟩ := h.row_of_mem he
            exact absurd (congrArg SqlValue.text hid) (existingEventLocked_eq_none.mp hexisting _ hrow)
          · cases hfp
        · exact readable_of_reduce hinv.wellKeyed (Ledger.namedPositions_of_applyEvents htracks.state)
            hpayouts hnext
      intents := by
        rw [intentsOf_append, List.map_append]
        cases event with
        | orderIntentCreated e =>
          refine h.intents.append (List.nodup_singleton _) ?_
          have hnone : intentEventLocked db e.intent.intentId = none := by
            cases hrow : intentEventLocked db e.intent.intentId with
            | none => rfl
            | some row =>
              rw [checkPriorIntent, hrow] at hprior
              obtain ⟨id, -, hprior⟩ := bind_eq_ok.mp hprior
              cases hprior
          intro id hid hmem
          obtain ⟨e', he', rfl⟩ := List.mem_map.mp hid
          exact h.intentEventLocked_eq_none.mp hnone e' he' (List.mem_singleton.mp hmem)
        | _ =>
          show ((intentsOf events).map _ ++ []).Nodup
          rw [List.append_nil]
          exact h.intents
      checkpoints := by
        intro entry hentry
        obtain ⟨c, hc, hrow⟩ := h.checkpoints entry hentry
        exact ⟨c, hc.append [event], hrow⟩ }
  · refine ⟨htracks.state.snoc hstate, ?_, ?_⟩
    · rw [List.length_append]
      show acc.lastSequence + 1 = _
      rw [htracks.lastSequence]
      rfl
    · rw [tailHash_snoc, ← htracks.chainHash]
      rfl

/-- **The step of the loop.** -/
theorem extends_of_appendEvent (h : Represents rt db events) (htracks : acc.Tracks rt events)
    (hc : event.Constructible rt)
    (hreturns : (appendEvent rt env allowed acc event).Returns db acc' db') :
    ∃ new, Extends rt db db' events new [event] ∧ acc'.Tracks rt (events ++ new) := by
  obtain ⟨-, ⟨row, hrow, hsame, rfl, rfl⟩ | ⟨hexisting, hprior, state, hstate, -, -, rfl, rfl⟩⟩ :=
    returns_appendEvent.mp hreturns
  · refine ⟨[], ⟨?_, rfl, List.nil_sublist _, ?_⟩, ?_⟩
    · rwa [List.append_nil]
    · refine List.forall_mem_singleton.mpr fun hreadable => ?_
      obtain ⟨e, he, previous, heq⟩ := h.mem_of_row (existingEventLocked_eq_some hrow).1
      have hpayload := (checkDuplicate_eq_ok.mp hsame).2.2.1
      rw [heq] at hpayload
      have := eq_of_payload hc (h.constructible e he) hreadable (SqlValue.text.inj hpayload)
      rwa [List.append_nil, ← this]
    · rw [List.append_nil]
      exact ⟨htracks.state, htracks.lastSequence, htracks.chainHash⟩
  · obtain ⟨hrepresents, htracks'⟩ := h.snoc htracks hc hexisting hprior hstate
    refine ⟨[event], ⟨hrepresents, rfl, List.Sublist.refl _, ?_⟩, htracks'⟩
    exact List.forall_mem_singleton.mpr fun _ =>
      List.mem_append_right _ (List.mem_singleton_self event)

theorem Extends.trans {db'' : Db} {new new' batch batch' : List LedgerEvent}
    (h : Extends rt db db' events new batch)
    (h' : Extends rt db' db'' (events ++ new) new' batch') :
    Extends rt db db'' events (new ++ new') (batch ++ batch') where
  represents := by
    rw [← List.append_assoc]
    exact h'.represents
  tables := by
    rw [h'.tables, h.tables]
  sublist := h.sublist.append h'.sublist
  stored := by
    rw [← List.append_assoc]
    refine List.forall_mem_append.mpr ⟨fun e he hreadable => ?_, h'.stored⟩
    exact List.mem_append_left _ (h.stored e he hreadable)

theorem extends_of_appendEvents {batch : List LedgerEvent} (h : Represents rt db events)
    (htracks : acc.Tracks rt events) (hc : ∀ e ∈ batch, e.Constructible rt)
    (hreturns : (batch.foldlM (appendEvent rt env allowed) acc).Returns db acc' db') :
    ∃ new, Extends rt db db' events new batch ∧ acc'.Tracks rt (events ++ new) := by
  induction batch generalizing acc db events with
  | nil =>
    obtain ⟨rfl, rfl⟩ := Action.returns_pure.mp hreturns
    refine ⟨[], ⟨?_, rfl, List.Sublist.refl _, fun _ h => absurd h List.not_mem_nil⟩, ?_⟩
    · rwa [List.append_nil]
    · rwa [List.append_nil]
  | cons event batch ih =>
    rw [List.forall_mem_cons] at hc
    obtain ⟨mid, d, hevent, hreturns⟩ := Action.returns_foldlM_cons.mp hreturns
    obtain ⟨new, hstep, htracks'⟩ := extends_of_appendEvent h htracks hc.1 hevent
    obtain ⟨new', hrest, htracks''⟩ := ih hstep.represents htracks' hc.2 hreturns
    refine ⟨new ++ new', hstep.trans hrest, ?_⟩
    rwa [← List.append_assoc]

end Append

/-! ## Loading -/

/-- Rows determine their events, if the events of one side are read back. -/
theorem eq_of_rowsFrom {events' : List LedgerEvent} (hc : ∀ e ∈ events, e.Constructible rt)
    (hreads : ∀ e ∈ events', ReadsBack rt e) {sequence : ℤ} {previousHash : String}
    (h : rowsFrom rt sequence previousHash events = rowsFrom rt sequence previousHash events') :
    events = events' := by
  induction events generalizing events' sequence previousHash with
  | nil =>
    cases events' with
    | nil => rfl
    | cons e' events' => cases h
  | cons e events ih =>
    cases events' with
    | nil => cases h
    | cons e' events' =>
      rw [List.forall_mem_cons] at hc hreads
      rw [rowsFrom, rowsFrom, List.cons.injEq] at h
      have hpayload : (encodeEvent rt e).payloadJson = (encodeEvent rt e').payloadJson :=
        SqlValue.text.inj (congrArg EventRow.payloadJson h.1)
      have hdecode := hreads.1
      rw [ReadsBack, ← hpayload] at hdecode
      obtain ⟨-, rfl⟩ := (decodeEvent_encodeEvent hc.1).mp hdecode
      rw [ih hc.2 hreads.2 h.2]

/-- A ledger that loads gives back the events. -/
theorem Represents.events_eq (h : Represents rt db events) {loaded : Loaded}
    (hload : loadLocked rt db = .ok loaded) : loaded.events = events := by
  have hfrom := loadedFrom_of_loadLocked hload
  have hrows := h.rows.symm.trans hfrom.rows_eq
  exact (eq_of_rowsFrom h.constructible hfrom.readsBack hrows).symm

theorem Represents.tracks_ofLoaded (h : Represents rt db events) {loaded : Loaded}
    (hload : loadLocked rt db = .ok loaded) : (AppendResult.ofLoaded loaded).Tracks rt events := by
  have hfrom := loadedFrom_of_loadLocked hload
  rw [h.events_eq hload] at hfrom
  refine ⟨hfrom.state, ?_, hfrom.chainHash⟩
  show loaded.lastSequence = _
  rw [hfrom.lastSequence]
  exact zero_add _

/-- **An append extends the list** by events of the batch, in their order. -/
theorem represents_of_appendEventsLocked {env : Env} {allowed : Bool} {batch : List LedgerEvent}
    {result : AppendResult} (h : Represents rt db events) (hc : ∀ e ∈ batch, e.Constructible rt)
    (hreturns : (appendEventsLocked rt env allowed batch).Returns db result db') :
    ∃ new, Extends rt db db' events new batch ∧ result.Tracks rt (events ++ new) := by
  obtain ⟨loaded, hload, hreturns⟩ := returns_appendEventsLocked.mp hreturns
  exact extends_of_appendEvents h (h.tracks_ofLoaded hload) hc hreturns

/-- Without the permission no intent of the batch is new. -/
theorem intentsOf_of_not_allowed {env : Env} {batch : List LedgerEvent} {acc acc' : AppendResult}
    (hreturns : (batch.foldlM (appendEvent rt env false) acc).Returns db acc' db') :
    intentsOf batch = [] := by
  induction batch generalizing acc db with
  | nil => rfl
  | cons event batch ih =>
    obtain ⟨mid, d, hevent, hrest⟩ := Action.returns_foldlM_cons.mp hreturns
    have hallowed := (returns_appendEvent.mp hevent).1
    cases event with
    | orderIntentCreated e => cases hallowed
    | _ => exact ih hrest

theorem Represents.checkpointRowsLocked_eq_ok (h : Represents rt db events) :
    ∃ checkpoints, checkpointRowsLocked db = .ok checkpoints ∧
      ∀ c ∈ checkpoints, CheckpointOf rt events c := by
  refine exists_mapM_of_forall fun entry hentry => ?_
  obtain ⟨c, hc, rfl⟩ := h.checkpoints entry hentry
  exact ⟨c, hc, rfl⟩

/-- The replay after some of the events. -/
structure Loaded.Tracks (rt : Runtime) (acc : Loaded) (events : List LedgerEvent) : Prop where
  state : Replays rt events acc.state
  lastSequence : acc.lastSequence = events.length
  chainHash : acc.chainHash = tailHash rt events

/-- The replay of the rows of the events that are left. -/
theorem loads_rest {checkpoints : List StateCheckpoint} {done rest : List LedgerEvent}
    {acc : Loaded} (htracks : acc.Tracks rt done) (hreads : ∀ e ∈ rest, ReadsBack rt e)
    (hreplay : ∃ s, Replays rt (done ++ rest) s)
    (hcheckpoints : ∀ c ∈ checkpoints, CheckpointOf rt (done ++ rest) c) :
    ∃ loaded, (rowsFrom rt acc.lastSequence acc.chainHash rest).foldlM (loadRow rt checkpoints) acc =
      .ok loaded ∧ loaded.Tracks rt (done ++ rest) := by
  induction rest generalizing done acc with
  | nil =>
    rw [List.append_nil]
    exact ⟨acc, rfl, htracks⟩
  | cons event rest ih =>
    rw [List.forall_mem_cons] at hreads
    obtain ⟨s, hs⟩ := hreplay
    obtain ⟨mid, hmid, hrest⟩ := foldlM_append_eq_ok.mp hs
    obtain ⟨state, hstate, hrest⟩ := foldlM_cons_eq_ok.mp hrest
    cases htracks.state.symm.trans hmid
    have hsnoc : Replays rt (done ++ [event]) state := htracks.state.snoc hstate
    have htracks' : Loaded.Tracks rt ⟨acc.events ++ [event], state, acc.lastSequence + 1,
        linkHash rt acc.chainHash event⟩ (done ++ [event]) := by
      refine ⟨hsnoc, ?_, ?_⟩
      · rw [htracks.lastSequence, List.length_append]
        rfl
      · rw [tailHash_snoc, htracks.chainHash]
    have hcheckpoint : ∀ c ∈ checkpointAt checkpoints (acc.lastSequence + 1),
        c.chainHash = linkHash rt acc.chainHash event ∧ c.stateHash = stateFingerprint rt state := by
      intro c hc
      obtain ⟨n, s', hn, hle, hprefix, hchain, hstateHash⟩ :=
        hcheckpoints c (List.mem_of_find?_eq_some hc)
      have hsequence := List.find?_some hc
      rw [decide_eq_true_eq, hn, htracks.lastSequence] at hsequence
      have hlength : n = (done ++ [event]).length := by
        rw [List.length_append, List.length_singleton]
        omega
      rw [List.append_cons, hlength, List.take_left] at hprefix hchain
      cases hprefix.symm.trans hsnoc
      rw [tailHash_snoc, ← htracks.chainHash] at hchain
      exact ⟨hchain, hstateHash⟩
    rw [List.append_cons] at hs hcheckpoints ⊢
    obtain ⟨loaded, hloaded, htracks''⟩ := ih htracks' hreads.2 ⟨s, hs⟩ hcheckpoints
    refine ⟨loaded, foldlM_cons_eq_ok.mpr ⟨_, ?_, hloaded⟩, htracks''⟩
    exact loadRow_eq_ok.mpr ⟨event, state, rfl, hreads.1, hstate, hcheckpoint, rfl⟩

/-- **The ledger loads iff every payout is named.** -/
theorem Represents.loads_iff (h : Represents rt db events) :
    (∃ loaded, loadLocked rt db = .ok loaded) ↔ ∀ e ∈ events, PayoutsNamed (payoutsOf e) := by
  constructor
  · rintro ⟨loaded, hload⟩ e he
    rw [← h.events_eq hload] at he
    have hreads := (loadedFrom_of_loadLocked hload).readsBack e he
    rw [h.events_eq hload] at he
    exact payoutsNamed_of_readable ((decodeEvent_encodeEvent (h.constructible e he)).mp hreads).1
  · intro hpayouts
    have hreads : ∀ e ∈ events, ReadsBack rt e := fun e he =>
      (decodeEvent_encodeEvent (h.constructible e he)).mpr ⟨h.readable e he (hpayouts e he), rfl⟩
    obtain ⟨checkpoints, hcheckpoints, hall⟩ := h.checkpointRowsLocked_eq_ok
    have hstart : (Loaded.start rt).Tracks rt [] := ⟨rfl, rfl, rfl⟩
    obtain ⟨loaded, hloaded, htracks⟩ := loads_rest hstart hreads h.replay hall
    refine ⟨loaded, loadLocked_eq_ok.mpr ⟨checkpoints, hcheckpoints, ?_, ?_, ?_⟩⟩
    · exact rt.upper.map_ne_empty _ (by decide)
    · rw [h.rows]
      exact hloaded
    · intro c hc
      obtain ⟨n, s, hn, hle, -⟩ := hall c hc
      rw [hn, htracks.lastSequence]
      exact_mod_cast hle

end WeatherBot.Persistence
