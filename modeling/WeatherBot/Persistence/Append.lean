import WeatherBot.Common.FirstBy
import WeatherBot.Ledger.Identifiers
import WeatherBot.Ledger.Redelivery
import WeatherBot.Persistence.Chain

/-!
# Appending

What `append_many` writes, and when the ledger it leaves can be loaded again.

* `returns_appendEvent`: one event is a stored duplicate, or gets a new row.
* `loaded_of_appendEvents`: the loop, as long as the decoder reads every event.
* `readable_of_loaded`: a ledger that loads holds only events that the decoder
  reads.
-/

namespace WeatherBot.Persistence

open WeatherBot.Common
open WeatherBot.Domain

variable {rt : Runtime} {env : Env}

/-! ## Duplicates -/

theorem sameStored_eq_ok {row : EventRow} {encoded : EncodedEvent} :
    sameStored row encoded = .ok true ↔
      row.eventType = .text encoded.eventType ∧
        row.eventSchemaVersion = .integer encoded.schemaVersion ∧
        row.payloadJson = .text encoded.payloadJson ∧ row.payloadHash = .text encoded.payloadHash := by
  constructor
  · intro h
    obtain ⟨eventType, htype, h⟩ := bind_eq_ok.mp h
    split_ifs at h with heq
    · cases h
    obtain ⟨version, hversion, h⟩ := bind_eq_ok.mp h
    split_ifs at h with heq'
    · cases h
    obtain ⟨payload, hpayload, h⟩ := bind_eq_ok.mp h
    split_ifs at h with heq''
    · cases h
    obtain ⟨payloadHash, hpayloadHash, h⟩ := bind_eq_ok.mp h
    rw [pure_eq_ok, Except.ok.injEq, decide_eq_true_eq] at h
    rw [not_not] at heq heq' heq''
    subst heq heq' heq'' h
    exact ⟨rowText_eq_ok.mp htype, rowInt_eq_ok.mp hversion, rowText_eq_ok.mp hpayload,
      rowText_eq_ok.mp hpayloadHash⟩
  · rintro ⟨htype, hversion, hpayload, hpayloadHash⟩
    simp [sameStored, htype, hversion, hpayload, hpayloadHash, rowText, rowInt]

theorem checkDuplicate_eq_ok {row : EventRow} {encoded : EncodedEvent} {u : Unit} :
    checkDuplicate row encoded = .ok u ↔
      row.eventType = .text encoded.eventType ∧
        row.eventSchemaVersion = .integer encoded.schemaVersion ∧
        row.payloadJson = .text encoded.payloadJson ∧ row.payloadHash = .text encoded.payloadHash := by
  rw [← sameStored_eq_ok, checkDuplicate, bind_eq_ok]
  constructor
  · rintro ⟨same, hsame, h⟩
    rw [raiseIf_eq_ok, Bool.not_eq_false] at h
    rw [hsame, h]
  · intro hsame
    exact ⟨true, hsame, raiseIf_eq_ok.mpr (by decide)⟩

theorem existingEventLocked_eq_some {db : Db} {eventId : String} {row : EventRow}
    (h : existingEventLocked db eventId = some row) :
    row ∈ db.ledgerEvents ∧ row.eventId = .text eventId :=
  ⟨List.mem_of_find?_eq_some h, by simpa using List.find?_some h⟩

theorem existingEventLocked_eq_none {db : Db} {eventId : String} :
    existingEventLocked db eventId = none ↔ ∀ row ∈ db.ledgerEvents, row.eventId ≠ .text eventId := by
  simp [existingEventLocked]

/-! ## One event -/

/-- The result after a duplicate. -/
def AppendResult.skip (acc : AppendResult) (event : LedgerEvent) : AppendResult :=
  { acc with duplicateEventIds := acc.duplicateEventIds ++ [event.eventId] }

/-- The result after a new event. -/
def AppendResult.advance (rt : Runtime) (acc : AppendResult) (event : LedgerEvent)
    (state : LedgerState) : AppendResult :=
  { acc with
    appendedSequences := acc.appendedSequences ++ [acc.lastSequence + 1]
    state
    lastSequence := acc.lastSequence + 1
    chainHash := linkHash rt acc.chainHash event }

/-- The row that an accumulator gives an event. -/
def AppendResult.row (rt : Runtime) (acc : AppendResult) (event : LedgerEvent) : EventRow :=
  eventRow rt (acc.lastSequence + 1) acc.chainHash event

theorem returns_insertEvent {row : EventRow} {db db' : Db} {u : Unit} :
    (insertEvent env row).Returns db u db' ↔
      env.insertError row.sequence = none ∧ checkConstraints db row = .ok () ∧
        db' = { db with ledgerEvents := insertBySequence row db.ledgerEvents } := by
  rw [insertEvent]
  simp only [Action.returns_bind, Action.returns_raiseSome, Action.returns_get, Action.returns_lift,
    Action.returns_modify]
  constructor
  · rintro ⟨⟨⟩, d, ⟨hraise, rfl⟩, e, f, ⟨rfl, rfl⟩, ⟨⟩, g, ⟨hcheck, rfl⟩, rfl⟩
    exact ⟨hraise, hcheck, rfl⟩
  · rintro ⟨hraise, hcheck, rfl⟩
    exact ⟨(), db, ⟨hraise, rfl⟩, db, db, ⟨rfl, rfl⟩, (), db, ⟨hcheck, rfl⟩, rfl⟩

theorem returns_storeNew {acc acc' : AppendResult} {event : LedgerEvent} {db db' : Db} :
    (storeNew rt env acc event).Returns db acc' db' ↔
      checkPriorIntent db event = .ok () ∧ ∃ state, applyEvent rt acc.state event = .ok state ∧
        env.insertError (acc.lastSequence + 1) = none ∧
        checkConstraints db (acc.row rt event) = .ok () ∧ acc' = acc.advance rt event state ∧
        db' = { db with ledgerEvents := insertBySequence (acc.row rt event) db.ledgerEvents } := by
  rw [storeNew]
  simp only [Action.returns_bind, Action.returns_get, Action.returns_lift, returns_insertEvent,
    Action.returns_pure]
  constructor
  · rintro ⟨d, e, ⟨rfl, rfl⟩, ⟨⟩, f, ⟨hprior, rfl⟩, state, g, ⟨hstate, rfl⟩, ⟨⟩, k,
      ⟨hraise, hcheck, rfl⟩, rfl, rfl⟩
    exact ⟨hprior, state, hstate, hraise, hcheck, rfl, rfl⟩
  · rintro ⟨hprior, state, hstate, hraise, hcheck, rfl, rfl⟩
    exact ⟨db, db, ⟨rfl, rfl⟩, (), db, ⟨hprior, rfl⟩, state, db, ⟨hstate, rfl⟩, (), _,
      ⟨hraise, hcheck, rfl⟩, rfl, rfl⟩

/-- **One event of a batch** is byte for byte a stored one, or the reducers accept it and it gets
the next row. -/
theorem returns_appendEvent {allowed : Bool} {acc acc' : AppendResult} {event : LedgerEvent}
    {db db' : Db} :
    (appendEvent rt env allowed acc event).Returns db acc' db' ↔
      checkIntentAllowed allowed event = .ok () ∧
      ((∃ row, existingEventLocked db event.eventId = some row ∧
          checkDuplicate row (encodeEvent rt event) = .ok () ∧ acc' = acc.skip event ∧ db' = db) ∨
        (existingEventLocked db event.eventId = none ∧ checkPriorIntent db event = .ok () ∧
          ∃ state, applyEvent rt acc.state event = .ok state ∧
            env.insertError (acc.lastSequence + 1) = none ∧
            checkConstraints db (acc.row rt event) = .ok () ∧ acc' = acc.advance rt event state ∧
            db' = { db with ledgerEvents := insertBySequence (acc.row rt event) db.ledgerEvents })) := by
  rw [appendEvent, Action.returns_bind]
  simp only [Action.returns_bind, Action.returns_lift, Action.returns_get]
  constructor
  · rintro ⟨⟨⟩, _, ⟨hallowed, rfl⟩, _, db₁, ⟨rfl, rfl⟩, h⟩
    refine ⟨hallowed, ?_⟩
    cases hrow : existingEventLocked db₁ event.eventId with
    | none =>
      simp only [hrow] at h
      exact .inr ⟨rfl, returns_storeNew.mp h⟩
    | some row =>
      simp only [hrow, Action.returns_bind, Action.returns_lift, Action.returns_pure] at h
      obtain ⟨⟨⟩, _, ⟨hsame, rfl⟩, rfl, rfl⟩ := h
      exact .inl ⟨row, rfl, hsame, rfl, rfl⟩
  · rintro ⟨hallowed, h⟩
    refine ⟨(), db, ⟨hallowed, rfl⟩, db, db, ⟨rfl, rfl⟩, ?_⟩
    rcases h with ⟨row, hrow, hsame, rfl, rfl⟩ | ⟨hrow, hnew⟩
    · simp only [hrow, Action.returns_bind, Action.returns_lift, Action.returns_pure]
      exact ⟨(), db', ⟨hsame, rfl⟩, rfl, rfl⟩
    · simp only [hrow]
      exact returns_storeNew.mpr hnew

/-! ## What stays stored -/

theorem mem_insertBySequence {row r : EventRow} {rows : List EventRow} :
    r ∈ insertBySequence row rows ↔ r = row ∨ r ∈ rows := by
  induction rows with
  | nil => simp [insertBySequence]
  | cons r' rows ih =>
    rw [insertBySequence]
    split_ifs
    · rw [List.mem_cons]
    · rw [List.mem_cons, ih, List.mem_cons]
      tauto

/-- The payload of an event is in a row. -/
def Stored (rt : Runtime) (db : Db) (event : LedgerEvent) : Prop :=
  ∃ row ∈ db.ledgerEvents, row.payloadJson = .text (encodeEvent rt event).payloadJson

/-- No row is lost, and the event is stored afterwards. -/
theorem stored_of_appendEvent {allowed : Bool} {acc acc' : AppendResult} {event : LedgerEvent}
    {db db' : Db} (h : (appendEvent rt env allowed acc event).Returns db acc' db') :
    (∀ e, Stored rt db e → Stored rt db' e) ∧ Stored rt db' event := by
  obtain ⟨-, ⟨row, hrow, hsame, -, rfl⟩ | ⟨-, -, state, -, -, -, -, rfl⟩⟩ :=
    returns_appendEvent.mp h
  · exact ⟨fun _ he => he, row, (existingEventLocked_eq_some hrow).1,
      (checkDuplicate_eq_ok.mp hsame).2.2.1⟩
  · refine ⟨?_, _, mem_insertBySequence.mpr (.inl rfl), rfl⟩
    rintro e ⟨row, hrow, he⟩
    exact ⟨row, mem_insertBySequence.mpr (.inr hrow), he⟩

theorem stored_of_appendEvents {allowed : Bool} {events : List LedgerEvent} {acc acc' : AppendResult}
    {db db' : Db} (h : (events.foldlM (appendEvent rt env allowed) acc).Returns db acc' db') :
    (∀ e, Stored rt db e → Stored rt db' e) ∧ ∀ e ∈ events, Stored rt db' e := by
  induction events generalizing acc db with
  | nil =>
    obtain ⟨-, rfl⟩ := Action.returns_pure.mp h
    exact ⟨fun _ he => he, by simp⟩
  | cons event events ih =>
    obtain ⟨mid, d, hevent, h⟩ := Action.returns_foldlM_cons.mp h
    obtain ⟨hkeep, hstored⟩ := stored_of_appendEvent hevent
    obtain ⟨hkeep', hstored'⟩ := ih h
    refine ⟨fun e he => hkeep' e (hkeep e he), List.forall_mem_cons.mpr ⟨?_, hstored'⟩⟩
    exact hkeep' event hstored

/-- **A ledger that loads holds only events that the decoder reads.** -/
theorem readable_of_loaded {db : Db} {loaded : Loaded} (hload : loadLocked rt db = .ok loaded)
    {event : LedgerEvent} (hc : event.Constructible rt) (h : Stored rt db event) :
    Readable event ∧ event ∈ loaded.events := by
  obtain ⟨row, hrow, hpayload⟩ := h
  have hfrom := loadedFrom_of_loadLocked hload
  rw [hfrom.rows_eq] at hrow
  obtain ⟨e, he, previous, heq, -⟩ := mem_rowsFrom hrow
  rw [heq] at hpayload
  have htext : (encodeEvent rt e).payloadJson = (encodeEvent rt event).payloadJson :=
    SqlValue.text.inj hpayload
  have hreads := hfrom.readsBack e he
  rw [ReadsBack, htext] at hreads
  obtain ⟨hreadable, rfl⟩ := (decodeEvent_encodeEvent hc).mp hreads
  exact ⟨hreadable, he⟩

/-! ## Accepted events -/

/-- The payouts of an event. -/
def payoutsOf : LedgerEvent → List OutcomePayout
  | .marketResolutionEvidenceRecorded e => e.evidence.payouts
  | .marketResolved e => e.resolution.payouts
  | _ => []

theorem payoutsNamed_of_readable {event : LedgerEvent} (h : Readable event) :
    PayoutsNamed (payoutsOf event) := by
  cases event with
  | marketResolutionEvidenceRecorded e =>
    intro p hp
    exact h _ (List.mem_map_of_mem hp)
  | marketResolved e =>
    intro p hp
    exact h _ (List.mem_map_of_mem hp)
  | _ => exact fun p hp => by cases hp

/-- **An accepted event names orders and positions of the ledger**, so only the names of its payouts
can be blank. -/
theorem readable_of_reduce {s next : LedgerState} {event : LedgerEvent} (hs : s.WellKeyed)
    (hpositions : Ledger.NamedPositions s) (hpayouts : PayoutsNamed (payoutsOf event))
    (h : reduce rt s event = .ok next) : Readable event := by
  have hintent : ∀ {e : LedgerEvent} {intentId : String} {α : Type}
      {f : OrderAggregate → Except Error α} {a : α}, uncheckedTexts e = [intentId] →
      (orderOf s intentId >>= f) = .ok a → Readable e := by
    intro e intentId α f a he h
    obtain ⟨o, ho, -⟩ := bind_eq_ok.mp h
    rw [Readable, he, List.forall_mem_singleton]
    exact Ledger.isBlank_of_order hs (orderOf_eq_ok.mp ho)
  cases event with
  | accountOpened e => simp [Readable, uncheckedTexts]
  | orderIntentCreated e => simp [Readable, uncheckedTexts]
  | orderSubmitted e => exact hintent rfl h
  | orderAcknowledged e => exact hintent rfl h
  | fillReceived e => exact hintent rfl h
  | orderRejected e => exact hintent rfl h
  | orderCancelled e => exact hintent rfl h
  | orderOutcomeUnknown e => exact hintent rfl h
  | weatherObservationRecorded e => simp [Readable, uncheckedTexts]
  | marketResolutionEvidenceRecorded e => exact List.forall_mem_map.mpr hpayouts
  | marketResolved e => exact List.forall_mem_map.mpr hpayouts
  | positionSettled e =>
    obtain ⟨p, p', cash, net, hsettled, -⟩ := applySettlement_eq_ok h
    obtain ⟨hmarket, houtcome⟩ := hpositions _ p hsettled.position
    exact List.forall_mem_cons.mpr ⟨hmarket, List.forall_mem_singleton.mpr houtcome⟩
  | riskScopeRegistered e => simp [Readable, uncheckedTexts]
  | portfolioValuationRecorded e => simp [Readable, uncheckedTexts]

/-- A new event that the reducers accept. -/
theorem readable_of_applyEvent {db : Db} {loaded : Loaded} (hload : loadLocked rt db = .ok loaded)
    {event : LedgerEvent} {state : LedgerState}
    (hnew : event.eventId ∉ loaded.events.map LedgerEvent.eventId)
    (hpayouts : PayoutsNamed (payoutsOf event))
    (h : applyEvent rt loaded.state event = .ok state) : Readable event := by
  have hstate := (loadedFrom_of_loadLocked hload).state
  have hinv := invariants_of_loadLocked hload
  rcases applyEvent_eq_ok.mp h with ⟨hrecorded, -⟩ | ⟨-, next, hnext, -, -⟩
  · rcases Ledger.mem_of_eventFingerprint (Ledger.invariants_fresh _) hstate hrecorded with hmem | hfp
    · exact absurd hmem hnew
    · cases hfp
  · exact readable_of_reduce hinv.wellKeyed (Ledger.namedPositions_of_applyEvents hstate) hpayouts hnext

/-! ## The ledger after an append -/

/-- A row after the last one. -/
theorem insertBySequence_of_lt {row : EventRow} {rows : List EventRow}
    (h : ∀ r ∈ rows, r.sequence < row.sequence) : insertBySequence row rows = rows ++ [row] := by
  induction rows with
  | nil => rfl
  | cons r rows ih =>
    rw [List.forall_mem_cons] at h
    rw [insertBySequence, if_neg (not_lt.mpr h.1.le), ih h.2, List.cons_append]

/-- No checkpoint is beyond the last event. -/
theorem checkpointAt_beyond {checkpoints : List StateCheckpoint} {sequence : ℤ}
    (h : ∀ c ∈ checkpoints, c.sequence ≤ sequence) : checkpointAt checkpoints (sequence + 1) = none := by
  rw [checkpointAt, List.find?_eq_none]
  intro c hc
  have := h c hc
  rw [decide_eq_true_eq]
  omega

/-- The ledger with one more event. -/
def Loaded.advance (rt : Runtime) (loaded : Loaded) (event : LedgerEvent) (state : LedgerState) :
    Loaded :=
  ⟨loaded.events ++ [event], state, loaded.lastSequence + 1, linkHash rt loaded.chainHash event⟩

/-- **One more row.** A ledger that loads still does after the next row of an event that is read
back and accepted. -/
theorem loadLocked_advance {db : Db} {loaded : Loaded} (hload : loadLocked rt db = .ok loaded)
    {event : LedgerEvent} {state : LedgerState} (hreads : ReadsBack rt event)
    (hstate : applyEvent rt loaded.state event = .ok state) :
    loadLocked rt { db with ledgerEvents := db.ledgerEvents ++
      [eventRow rt (loaded.lastSequence + 1) loaded.chainHash event] } =
        .ok (loaded.advance rt event state) := by
  obtain ⟨checkpoints, hcheckpoints, hcurrency, hrows, horphan⟩ := loadLocked_eq_ok.mp hload
  refine loadLocked_eq_ok.mpr ⟨checkpoints, hcheckpoints, hcurrency, ?_, ?_⟩
  · refine foldlM_append_eq_ok.mpr ⟨loaded, hrows, foldlM_cons_eq_ok.mpr ⟨_, ?_, rfl⟩⟩
    refine loadRow_eq_ok.mpr ⟨event, state, rfl, hreads, hstate, ?_, rfl⟩
    rw [checkpointAt_beyond horphan]
    nofun
  · intro c hc
    have := horphan c hc
    show c.sequence ≤ loaded.lastSequence + 1
    omega

/-- The accumulator of a batch agrees with the ledger. -/
structure AppendResult.At (acc : AppendResult) (loaded : Loaded) : Prop where
  state : acc.state = loaded.state
  lastSequence : acc.lastSequence = loaded.lastSequence
  chainHash : acc.chainHash = loaded.chainHash

theorem AppendResult.at_ofLoaded (loaded : Loaded) : (AppendResult.ofLoaded loaded).At loaded :=
  ⟨rfl, rfl, rfl⟩

/-- What an appended event changes in a ledger that loads. -/
structure Advances (rt : Runtime) (db db' : Db) (loaded loaded' : Loaded) (events : List LedgerEvent) :
    Prop where
  load : loadLocked rt db' = .ok loaded'
  state : applyEvents rt loaded.state events = .ok loaded'.state
  events : loaded'.events = events.foldl (addFirst LedgerEvent.eventId) loaded.events
  rows : ∃ rows, db' = { db with ledgerEvents := rows }

/-- **The step of the loop.** -/
theorem advances_of_appendEvent {allowed : Bool} {acc acc' : AppendResult} {event : LedgerEvent}
    {db db' : Db} {loaded : Loaded} (hload : loadLocked rt db = .ok loaded) (hat : acc.At loaded)
    (hc : event.Constructible rt) (hpayouts : PayoutsNamed (payoutsOf event))
    (h : (appendEvent rt env allowed acc event).Returns db acc' db') :
    ∃ loaded', Advances rt db db' loaded loaded' [event] ∧ acc'.At loaded' := by
  have hfrom := loadedFrom_of_loadLocked hload
  have hinv := invariants_of_loadLocked hload
  obtain ⟨-, ⟨row, hrow, hsame, rfl, rfl⟩ | ⟨hrow, -, state, hstate, -, -, rfl, rfl⟩⟩ :=
    returns_appendEvent.mp h
  · -- a duplicate: the stored row is the row of this very event
    have hstored : Stored rt db' event :=
      ⟨row, (existingEventLocked_eq_some hrow).1, (checkDuplicate_eq_ok.mp hsame).2.2.1⟩
    have hmem := (readable_of_loaded hload hc hstored).2
    refine ⟨loaded, ⟨hload, ?_, ?_, db'.ledgerEvents, rfl⟩, hat.1, hat.2, hat.3⟩
    · have hrecorded := Ledger.recorded_of_mem (Ledger.invariants_fresh _) hfrom.state hmem
      exact foldlM_cons_eq_ok.mpr ⟨loaded.state, applyEvent_eq_ok.mpr (.inl ⟨hrecorded, rfl⟩), rfl⟩
    · rw [List.foldl_cons, List.foldl_nil, addFirst, if_pos (List.mem_map_of_mem hmem)]
  · -- a new event
    have hnew : event.eventId ∉ loaded.events.map LedgerEvent.eventId := by
      intro hmem
      obtain ⟨e, he, heq⟩ := List.mem_map.mp hmem
      obtain ⟨r, hr, hid⟩ := exists_row_of_mem rt he (Loaded.start rt).lastSequence
        (Loaded.start rt).chainHash
      rw [← hfrom.rows_eq] at hr
      exact existingEventLocked_eq_none.mp hrow r hr (by rw [hid, heq])
    rw [hat.state] at hstate
    have hreadable := readable_of_applyEvent hload hnew hpayouts hstate
    have hreads : ReadsBack rt event := (decodeEvent_encodeEvent hc).mpr ⟨hreadable, rfl⟩
    have hlast : ∀ r ∈ db.ledgerEvents, r.sequence < (acc.row rt event).sequence := by
      intro r hr
      rw [hfrom.rows_eq] at hr
      obtain ⟨-, -, -, -, -, hle⟩ := mem_rowsFrom hr
      rw [← hfrom.lastSequence, ← hat.lastSequence] at hle
      exact Int.lt_add_one_of_le hle
    rw [insertBySequence_of_lt hlast, AppendResult.row, hat.lastSequence, hat.chainHash]
    refine ⟨loaded.advance rt event state, ⟨loadLocked_advance hload hreads hstate, ?_, ?_, _, rfl⟩,
      rfl, ?_, ?_⟩
    · exact foldlM_cons_eq_ok.mpr ⟨state, hstate, rfl⟩
    · rw [List.foldl_cons, List.foldl_nil, addFirst, if_neg hnew]
      rfl
    · show acc.lastSequence + 1 = loaded.lastSequence + 1
      rw [hat.lastSequence]
    · show linkHash rt acc.chainHash event = linkHash rt loaded.chainHash event
      rw [hat.chainHash]

theorem Advances.refl {db : Db} {loaded : Loaded} (h : loadLocked rt db = .ok loaded) :
    Advances rt db db loaded loaded [] :=
  ⟨h, rfl, rfl, db.ledgerEvents, rfl⟩

theorem Advances.trans {db db' db'' : Db} {loaded loaded' loaded'' : Loaded}
    {events events' : List LedgerEvent} (h : Advances rt db db' loaded loaded' events)
    (h' : Advances rt db' db'' loaded' loaded'' events') :
    Advances rt db db'' loaded loaded'' (events ++ events') where
  load := h'.load
  state := foldlM_append_eq_ok.mpr ⟨loaded'.state, h.state, h'.state⟩
  events := by rw [List.foldl_append, ← h.events, h'.events]
  rows := by
    obtain ⟨rows, rfl⟩ := h.rows
    obtain ⟨rows', rfl⟩ := h'.rows
    exact ⟨rows', rfl⟩

/-- **The loop over a batch**, if every payout is named. -/
theorem advances_of_appendEvents {allowed : Bool} {events : List LedgerEvent}
    {acc acc' : AppendResult} {db db' : Db} {loaded : Loaded} (hload : loadLocked rt db = .ok loaded)
    (hat : acc.At loaded) (hc : ∀ e ∈ events, e.Constructible rt)
    (hpayouts : ∀ e ∈ events, PayoutsNamed (payoutsOf e))
    (h : (events.foldlM (appendEvent rt env allowed) acc).Returns db acc' db') :
    ∃ loaded', Advances rt db db' loaded loaded' events ∧ acc'.At loaded' := by
  induction events generalizing acc db loaded with
  | nil =>
    obtain ⟨rfl, rfl⟩ := Action.returns_pure.mp h
    exact ⟨loaded, .refl hload, hat⟩
  | cons event events ih =>
    rw [List.forall_mem_cons] at hc hpayouts
    obtain ⟨mid, d, hevent, h⟩ := Action.returns_foldlM_cons.mp h
    obtain ⟨loadedMid, hstep, hat'⟩ := advances_of_appendEvent hload hat hc.1 hpayouts.1 hevent
    obtain ⟨loaded', hrest, hat''⟩ := ih hstep.load hat' hc.2 hpayouts.2 h
    exact ⟨loaded', hstep.trans hrest, hat''⟩

/-! ## One event at a time -/

/-- The loop does not look at what the result has collected. -/
theorem returns_appendEvent_at {allowed : Bool} {acc acc' acc₁ : AppendResult} {event : LedgerEvent}
    {db db' : Db} {loaded : Loaded} (hat : acc.At loaded) (hat₁ : acc₁.At loaded)
    (h : (appendEvent rt env allowed acc event).Returns db acc' db') :
    ∃ acc₁', (appendEvent rt env allowed acc₁ event).Returns db acc₁' db' := by
  have hrow : acc.row rt event = acc₁.row rt event := by
    rw [AppendResult.row, AppendResult.row, hat.lastSequence, hat.chainHash, hat₁.lastSequence,
      hat₁.chainHash]
  simp only [returns_appendEvent, hat.state, hat.lastSequence, hrow, hat₁.state,
    hat₁.lastSequence] at h ⊢
  obtain ⟨hallowed, ⟨row, hex, hsame, -, rfl⟩ | ⟨hex, hprior, state, hstate, hraise, hcheck, -, rfl⟩⟩ := h
  · exact ⟨_, hallowed, .inl ⟨row, hex, hsame, rfl, rfl⟩⟩
  · exact ⟨_, hallowed, .inr ⟨hex, hprior, state, hstate, hraise, hcheck, rfl, rfl⟩⟩

theorem returns_appendEventsLocked {allowed : Bool} {events : List LedgerEvent} {db db' : Db}
    {result : AppendResult} :
    (appendEventsLocked rt env allowed events).Returns db result db' ↔
      ∃ loaded, loadLocked rt db = .ok loaded ∧
        (events.foldlM (appendEvent rt env allowed) (.ofLoaded loaded)).Returns db result db' := by
  rw [appendEventsLocked]
  simp only [Action.returns_bind, Action.returns_get, Action.returns_lift]
  constructor
  · rintro ⟨_, _, ⟨rfl, rfl⟩, loaded, _, ⟨hload, rfl⟩, h⟩
    exact ⟨loaded, hload, h⟩
  · rintro ⟨loaded, hload, h⟩
    exact ⟨db, db, ⟨rfl, rfl⟩, loaded, db, ⟨hload, rfl⟩, h⟩

theorem returns_appendMany {events : List LedgerEvent} {db db' : Db} {result : AppendResult} :
    (appendMany rt env events).Returns db result db' ↔
      env.beginError = none ∧ env.commitError = none ∧
        (appendEventsLocked rt env false events).Returns db result db' := by
  rw [appendMany, transaction, Action.returns_transaction, Option.map_eq_none_iff,
    Option.map_eq_none_iff]

/-- **A batch is its events one at a time.** -/
theorem returns_append_each {events : List LedgerEvent} {acc acc' : AppendResult} {db db' : Db}
    {loaded : Loaded} (hbegin : env.beginError = none) (hcommit : env.commitError = none)
    (hload : loadLocked rt db = .ok loaded) (hat : acc.At loaded)
    (hc : ∀ e ∈ events, e.Constructible rt) (hpayouts : ∀ e ∈ events, PayoutsNamed (payoutsOf e))
    (h : (events.foldlM (appendEvent rt env false) acc).Returns db acc' db') :
    ∃ results, (events.mapM (append rt env)).Returns db results db' := by
  induction events generalizing acc db loaded with
  | nil =>
    obtain ⟨rfl, rfl⟩ := Action.returns_pure.mp h
    exact ⟨[], rfl⟩
  | cons event events ih =>
    rw [List.forall_mem_cons] at hc hpayouts
    obtain ⟨mid, d, hevent, h⟩ := Action.returns_foldlM_cons.mp h
    obtain ⟨loadedMid, hstep, hat'⟩ := advances_of_appendEvent hload hat hc.1 hpayouts.1 hevent
    obtain ⟨results, hrest⟩ := ih hstep.load hat' hc.2 hpayouts.2 h
    obtain ⟨result, hfirst⟩ := returns_appendEvent_at hat (AppendResult.at_ofLoaded loaded) hevent
    refine ⟨result :: results, Action.returns_mapM_cons.mpr ⟨result, d, results, ?_, hrest, rfl⟩⟩
    refine returns_appendMany.mpr ⟨hbegin, hcommit, returns_appendEventsLocked.mpr ⟨loaded, hload, ?_⟩⟩
    exact Action.returns_foldlM_cons.mpr ⟨result, d, hfirst, rfl⟩

/-! ## Batches -/

/-- The events of a batch that are neither stored nor earlier in the batch. -/
def newEvents (stored batch : List LedgerEvent) : List LedgerEvent :=
  firstBy LedgerEvent.eventId (batch.filter fun e => e.eventId ∉ stored.map LedgerEvent.eventId)

/-- What a committed batch does to a ledger that loads. -/
structure Committed (rt : Runtime) (env : Env) (db : Db) (loaded : Loaded) (events : List LedgerEvent)
    (result : AppendResult) (db' : Db) : Prop where
  /-- The reloaded state is the fold of the batch, and the state that the call returned. -/
  reload : ∃ loaded', loadLocked rt db' = .ok loaded' ∧
    applyEvents rt loaded.state events = .ok loaded'.state ∧ result.At loaded'
  /-- The rows of the new events follow the stored ones; nothing else changes. -/
  rows : db' = { db with
    ledgerEvents := db.ledgerEvents ++
      rowsFrom rt loaded.lastSequence loaded.chainHash (newEvents loaded.events events) }
  oneByOne : ∃ results, (events.mapM (append rt env)).Returns db results db'

/-- The table after an append, from the events of both ledgers. -/
theorem Advances.ledgerEvents {db db' : Db} {loaded loaded' : Loaded} {events : List LedgerEvent}
    (hload : loadLocked rt db = .ok loaded) (h : Advances rt db db' loaded loaded' events) :
    db' = { db with
      ledgerEvents := db.ledgerEvents ++
        rowsFrom rt loaded.lastSequence loaded.chainHash (newEvents loaded.events events) } := by
  obtain ⟨rows, rfl⟩ := h.rows
  have hfrom := loadedFrom_of_loadLocked hload
  have hrows : rows = rowsFrom rt _ _ loaded'.events := (loadedFrom_of_loadLocked h.load).rows_eq
  rw [h.events, foldl_addFirst, rowsFrom_append, ← hfrom.rows_eq, ← hfrom.lastSequence,
    ← hfrom.chainHash] at hrows
  rw [hrows, newEvents]

/-- **A batch is atomic.** If `append_many` raises, no table has changed. If it returns, it has
appended the new events of the batch, as one append for each event would have, and the ledger loads
with the fold of the batch, iff no payout of the batch has a blank outcome. -/
theorem appendMany_atomic (rt : Runtime) (env : Env) (db : Db) (events : List LedgerEvent) :
    (∀ error db', appendMany rt env events db = (.error error, db') → db' = db) ∧
    ∀ loaded, loadLocked rt db = .ok loaded → (∀ e ∈ events, e.Constructible rt) →
      ∀ result db', (appendMany rt env events).Returns db result db' →
        (Committed rt env db loaded events result db' ↔
          ∀ e ∈ events, PayoutsNamed (payoutsOf e)) := by
  refine ⟨fun error db' h => Action.transaction_unchanged h, ?_⟩
  intro loaded hload hc result db' h
  obtain ⟨hbegin, hcommit, h⟩ := returns_appendMany.mp h
  obtain ⟨loaded₁, hload₁, h⟩ := returns_appendEventsLocked.mp h
  cases hload₁.symm.trans hload
  constructor
  · rintro ⟨⟨loaded', hload', -⟩, -, -⟩ e he
    have hstored := (stored_of_appendEvents h).2 e he
    exact payoutsNamed_of_readable (readable_of_loaded hload' (hc e he) hstored).1
  · intro hpayouts
    have hat := AppendResult.at_ofLoaded loaded
    obtain ⟨loaded', hadv, hat'⟩ := advances_of_appendEvents hload hat hc hpayouts h
    exact {
      reload := ⟨loaded', hadv.load, hadv.state, hat'⟩
      rows := hadv.ledgerEvents hload
      oneByOne := returns_append_each hbegin hcommit hload hat hc hpayouts h }

namespace Sample

open Ledger.Sample

/-- A hash of 64 digits that tells texts of different lengths apart. -/
def lengthHash (s : String) : String :=
  String.ofList (List.replicate (s.length % 64) '1' ++ List.replicate (64 - s.length % 64) '0')

@[simp] theorem length_lengthHash (s : String) : (lengthHash s).length = 64 := by
  have := Nat.mod_lt s.length (show 0 < 64 by decide)
  rw [lengthHash, String.length_ofList, List.length_append, List.length_replicate,
    List.length_replicate]
  omega

theorem lengthHash_ne {s t : String} (h : s.length % 64 ≠ t.length % 64) :
    lengthHash s ≠ lengthHash t := by
  intro heq
  have hcount := congrArg (fun u => (String.toList u).count '1') heq
  simp [lengthHash, List.count_replicate] at hcount
  exact h hcount

/-- The sample runtime with hashes that the table admits. -/
def digits : Runtime :=
  { Runtime.utc with sha256 := lengthHash, sha256Json := fun value => lengthHash value.dumps }

def opened : LedgerEvent :=
  accountOpened (event "1" (.refl false)) ⟨⟨1000000, fits_million⟩, "USDC"⟩ (by decide)

/-- A resolution whose only outcome has this name. -/
def resolvedTo (outcomeId : String) : LedgerEvent :=
  .marketResolved { event "2" (.refl false) with resolution := {
    marketId := "market"
    payouts := [⟨outcomeId, ⟨one, fits_one⟩, one_range⟩]
    resolvedAt := noon
    marketId_text := .refl false
    payouts_ne := by simp
    payouts_nodup := by simp } }

/-- A first batch: the first event is delivered twice. -/
def firstBatch (outcomeId : String) : List LedgerEvent := [opened, opened, resolvedTo outcomeId]

theorem constructible_firstBatch {outcomeId : String} :
    ∀ e ∈ firstBatch outcomeId, e.Constructible digits := by
  refine List.forall_mem_cons.mpr ⟨?_, List.forall_mem_cons.mpr ⟨?_, ?_⟩⟩
  · exact ⟨by decide, by decide⟩
  · exact ⟨by decide, by decide⟩
  · exact List.forall_mem_singleton.mpr trivial

/-- The ledger before its first event. -/
def noEvents : Loaded := .start digits

theorem loadLocked_empty : loadLocked digits Db.empty = .ok noEvents :=
  loadLocked_eq_ok.mpr ⟨[], rfl, by decide, rfl, by simp⟩

/-- The states after the two new events. -/
def openedState : LedgerState := okOr (applyEvent digits noEvents.state opened) (.fresh "USDC")

def resolvedState (outcomeId : String) : LedgerState :=
  okOr (applyEvent digits openedState (resolvedTo outcomeId)) (.fresh "USDC")

/-- The result and the table after the first event. -/
def openedResult : AppendResult := (AppendResult.ofLoaded noEvents).advance digits opened openedState

def openedDb : Db := { Db.empty with ledgerEvents := [eventRow digits 1 genesisChainHash opened] }

/-- The result and the table after the first batch. -/
def firstResult (outcomeId : String) : AppendResult :=
  (openedResult.skip opened).advance digits (resolvedTo outcomeId) (resolvedState outcomeId)

def firstDb (outcomeId : String) : Db :=
  { openedDb with
    ledgerEvents := insertBySequence ((openedResult.skip opened).row digits (resolvedTo outcomeId))
      openedDb.ledgerEvents }

theorem hasLength64_digits (s : String) : HasLength64 (.text (digits.sha256 s)) := length_lengthHash s

theorem returns_opened :
    (appendEvent digits (.quiet "now") false (.ofLoaded noEvents) opened).Returns Db.empty openedResult
      openedDb := by
  refine returns_appendEvent.mpr ⟨rfl, .inr ⟨rfl, rfl, openedState,
    eq_ok_okOr (by decide) _, rfl, ?_, rfl, rfl⟩⟩
  refine raiseIf_bind_eq_ok.mpr ⟨by simp [Db.empty], raiseIf_eq_ok.mpr (not_not.mpr ?_)⟩
  exact ⟨hasLength64_digits _, by decide +kernel, hasLength64_digits _⟩

theorem returns_openedAgain :
    (appendEvent digits (.quiet "now") false openedResult opened).Returns openedDb
      (openedResult.skip opened) openedDb :=
  returns_appendEvent.mpr ⟨rfl, .inl ⟨eventRow digits 1 genesisChainHash opened, rfl,
    checkDuplicate_eq_ok.mpr ⟨rfl, rfl, rfl, rfl⟩, rfl, rfl⟩⟩

theorem length_value_lt (t : EventType) : t.value.length < 64 := by
  cases t <;> decide

/-- The chain hashes of events of kinds with names of different lengths. -/
theorem linkHash_ne_of_kind {e e' : LedgerEvent} {previous previous' : String}
    (hprevious : previous.length = 64) (hprevious' : previous'.length = 64)
    (hkind : (eventType e).value.length ≠ (eventType e').value.length) :
    linkHash digits previous e ≠ linkHash digits previous' e' := by
  have hpayload : ∀ e, (encodeEvent digits e).payloadHash.length = 64 := fun e => length_lengthHash _
  have htype : ∀ e, (encodeEvent digits e).eventType = (eventType e).value := fun _ => rfl
  have hversion : ∀ e, (encodeEvent digits e).schemaVersion = eventSchemaVersion := fun _ => rfl
  have hlt := length_value_lt (eventType e)
  have hlt' := length_value_lt (eventType e')
  refine lengthHash_ne ?_
  simp only [String.length_append, hpayload, htype, hversion, hprevious, hprevious']
  omega

theorem conflicts_resolved {outcomeId previous : String} :
    ¬ Conflicts (eventRow digits 2 (lengthHash previous) (resolvedTo outcomeId))
      (eventRow digits 1 genesisChainHash opened) := by
  rintro (h | h | h | h | h)
  · exact absurd (show (2 : ℤ) = 1 from h) (by decide)
  · exact absurd (show "2" = "1" from SqlValue.text.inj h) (by decide)
  · have htypes : EventType.marketResolved.value.length ≠ EventType.accountOpened.value.length := by
      decide
    have hkind : (eventType (resolvedTo outcomeId)).value.length ≠ (eventType opened).value.length := htypes
    exact linkHash_ne_of_kind (length_lengthHash _) (by decide +kernel) hkind (SqlValue.text.inj h)
  · exact absurd (show "market_resolved" = "order_intent_created" from SqlValue.text.inj h.1)
      (by decide)
  · exact absurd (show "market_resolved" = "order_intent_created" from SqlValue.text.inj h.1)
      (by decide)

theorem returns_resolved {outcomeId : String}
    (h : (applyEvent digits openedState (resolvedTo outcomeId)).isOk = true) :
    (appendEvent digits (.quiet "now") false (openedResult.skip opened) (resolvedTo outcomeId)).Returns
      openedDb (firstResult outcomeId) (firstDb outcomeId) := by
  refine returns_appendEvent.mpr ⟨rfl, .inr ⟨rfl, rfl, resolvedState outcomeId, eq_ok_okOr h _, rfl,
    ?_, rfl, rfl⟩⟩
  refine raiseIf_bind_eq_ok.mpr ⟨?_, raiseIf_eq_ok.mpr (not_not.mpr ?_)⟩
  · rintro ⟨row, hrow, hconflicts⟩
    simp only [openedDb, List.mem_singleton] at hrow
    rw [hrow] at hconflicts
    exact conflicts_resolved hconflicts
  · exact ⟨hasLength64_digits _, hasLength64_digits _, hasLength64_digits _⟩

theorem returns_firstBatch {outcomeId : String}
    (h : (applyEvent digits openedState (resolvedTo outcomeId)).isOk = true) :
    (appendMany digits (.quiet "now") (firstBatch outcomeId)).Returns Db.empty (firstResult outcomeId)
      (firstDb outcomeId) := by
  refine returns_appendMany.mpr ⟨rfl, rfl, returns_appendEventsLocked.mpr ⟨_, loadLocked_empty, ?_⟩⟩
  refine Action.returns_foldlM_cons.mpr ⟨_, _, returns_opened, ?_⟩
  refine Action.returns_foldlM_cons.mpr ⟨_, _, returns_openedAgain, ?_⟩
  exact Action.returns_foldlM_cons.mpr ⟨_, _, returns_resolved h, rfl⟩

/-- With a blank outcome the ledger does not load any more. -/
theorem loadLocked_blank (loaded : Loaded) : loadLocked digits (firstDb " ") ≠ .ok loaded := by
  intro hload
  have hstored : Stored digits (firstDb " ") (resolvedTo " ") :=
    ⟨_, mem_insertBySequence.mpr (.inl rfl), rfl⟩
  have hlast : resolvedTo " " ∈ firstBatch " " := List.mem_of_getElem? (i := 2) rfl
  have hreadable := (readable_of_loaded hload (constructible_firstBatch _ hlast) hstored).1
  exact absurd hreadable (by decide)

end Sample

theorem appendMany_atomic_firstBatch :
    Committed Sample.digits (.quiet "now") Db.empty Sample.noEvents (Sample.firstBatch "yes")
      (Sample.firstResult "yes") (Sample.firstDb "yes") :=
  ((appendMany_atomic Sample.digits (.quiet "now") Db.empty (Sample.firstBatch "yes")).2 _
    Sample.loadLocked_empty Sample.constructible_firstBatch _ _
    (Sample.returns_firstBatch (by decide))).mpr (by decide)

/-- A batch with a payout to a blank outcome is committed, and the ledger does not load any more. -/
theorem appendMany_blank_outcome :
    (appendMany Sample.digits (.quiet "now") (Sample.firstBatch " ")).Returns Db.empty
      (Sample.firstResult " ") (Sample.firstDb " ") ∧
    (∀ e ∈ Sample.firstBatch " ", e.Constructible Sample.digits) ∧
    ¬ Committed Sample.digits (.quiet "now") Db.empty Sample.noEvents (Sample.firstBatch " ")
      (Sample.firstResult " ") (Sample.firstDb " ") := by
  refine ⟨Sample.returns_firstBatch (by decide), Sample.constructible_firstBatch, ?_⟩
  rintro ⟨⟨loaded, hload, -⟩, -, -⟩
  exact Sample.loadLocked_blank loaded hload

/-! ## Reading back what was appended -/

/-- **An event that the store has appended is read back as itself**, and encodes to the same text
again, iff none of its payouts has a blank outcome. -/
theorem decode_of_appended {allowed : Bool} {event : LedgerEvent} {db db' : Db}
    {result : AppendResult} (hc : event.Constructible rt)
    (h : (appendEventsLocked rt env allowed [event]).Returns db result db') :
    (∃ event', decodeEvent rt (encodeEvent rt event).payloadJson = .ok event' ∧ event' = event ∧
      encodeEvent rt event' = encodeEvent rt event) ↔ PayoutsNamed (payoutsOf event) := by
  obtain ⟨loaded, hload, h⟩ := returns_appendEventsLocked.mp h
  constructor
  · rintro ⟨event', hdecode, -⟩
    exact payoutsNamed_of_readable ((decodeEvent_encodeEvent hc).mp hdecode).1
  · intro hpayouts
    obtain ⟨loaded', hadv, -⟩ := advances_of_appendEvents hload (AppendResult.at_ofLoaded loaded)
      (List.forall_mem_singleton.mpr hc) (List.forall_mem_singleton.mpr hpayouts) h
    have hstored := (stored_of_appendEvents h).2 event List.mem_cons_self
    have hreadable := (readable_of_loaded hadv.load hc hstored).1
    exact ⟨event, (decodeEvent_encodeEvent hc).mpr ⟨hreadable, rfl⟩, rfl, rfl⟩

/-- The calls of `append_many`, each with its surroundings. -/
def appendBatches (rt : Runtime) (batches : List (Env × List LedgerEvent)) :
    Action Error Db (List AppendResult) :=
  batches.mapM fun batch => appendMany rt batch.1 batch.2

/-- What one call stored, later calls keep. -/
theorem stored_of_appendBatches {batches : List (Env × List LedgerEvent)} {db db' : Db}
    {results : List AppendResult} (h : (appendBatches rt batches).Returns db results db') :
    (∀ e, Stored rt db e → Stored rt db' e) ∧
      ∀ batch ∈ batches, ∀ e ∈ batch.2, Stored rt db' e := by
  induction batches generalizing db results with
  | nil =>
    obtain ⟨-, rfl⟩ := Action.returns_pure.mp h
    exact ⟨fun _ he => he, by simp⟩
  | cons batch batches ih =>
    obtain ⟨result, d, rest, hbatch, hrest, rfl⟩ := Action.returns_mapM_cons.mp h
    obtain ⟨-, -, hbatch⟩ := returns_appendMany.mp hbatch
    obtain ⟨loaded, -, hbatch⟩ := returns_appendEventsLocked.mp hbatch
    obtain ⟨hkeep, hstored⟩ := stored_of_appendEvents hbatch
    obtain ⟨hkeep', hstored'⟩ := ih hrest
    refine ⟨fun e he => hkeep' e (hkeep e he), List.forall_mem_cons.mpr ⟨?_, hstored'⟩⟩
    exact fun e he => hkeep' e (hstored e he)

/-- The state after the last call. -/
def lastState (loaded : Loaded) (results : List AppendResult) : LedgerState :=
  (results.map AppendResult.state).getLastD loaded.state

theorem advances_of_appendBatches {batches : List (Env × List LedgerEvent)} {db db' : Db}
    {loaded : Loaded} {results : List AppendResult} (hload : loadLocked rt db = .ok loaded)
    (hc : ∀ batch ∈ batches, ∀ e ∈ batch.2, e.Constructible rt)
    (hpayouts : ∀ batch ∈ batches, ∀ e ∈ batch.2, PayoutsNamed (payoutsOf e))
    (h : (appendBatches rt batches).Returns db results db') :
    ∃ loaded', loadLocked rt db' = .ok loaded' ∧ loaded'.state = lastState loaded results := by
  induction batches generalizing db loaded results with
  | nil =>
    obtain ⟨rfl, rfl⟩ := Action.returns_pure.mp h
    exact ⟨loaded, hload, rfl⟩
  | cons batch batches ih =>
    rw [List.forall_mem_cons] at hc hpayouts
    obtain ⟨result, d, rest, hbatch, hrest, rfl⟩ := Action.returns_mapM_cons.mp h
    obtain ⟨-, -, hbatch⟩ := returns_appendMany.mp hbatch
    obtain ⟨loaded₁, hload₁, hbatch⟩ := returns_appendEventsLocked.mp hbatch
    cases hload₁.symm.trans hload
    obtain ⟨mid, hadv, hat⟩ := advances_of_appendEvents hload (AppendResult.at_ofLoaded loaded) hc.1
      hpayouts.1 hbatch
    obtain ⟨loaded', hload', hstate⟩ := ih hadv.load hc.2 hpayouts.2 hrest
    refine ⟨loaded', hload', ?_⟩
    rw [hstate, lastState, lastState, List.map_cons, List.getLastD_cons, hat.state]

/-- **The store can be reopened** after any successful appends, with the state that the last one
returned, iff no payout that was appended has a blank outcome. -/
theorem reload_of_appendBatches {batches : List (Env × List LedgerEvent)} {db db' : Db}
    {loaded : Loaded} {results : List AppendResult} (hload : loadLocked rt db = .ok loaded)
    (hc : ∀ batch ∈ batches, ∀ e ∈ batch.2, e.Constructible rt)
    (h : (appendBatches rt batches).Returns db results db') :
    (∃ loaded', loadLocked rt db' = .ok loaded' ∧ loaded'.state = lastState loaded results) ↔
      ∀ batch ∈ batches, ∀ e ∈ batch.2, PayoutsNamed (payoutsOf e) := by
  constructor
  · rintro ⟨loaded', hload', -⟩ batch hbatch e he
    have hstored := (stored_of_appendBatches h).2 batch hbatch e he
    exact payoutsNamed_of_readable (readable_of_loaded hload' (hc batch hbatch e he) hstored).1
  · exact fun hpayouts => advances_of_appendBatches hload hc hpayouts h

/-- **Append, then reload.** An event that the store has appended is read back as itself, and a
ledger reopens after any successful appends with the state that the last one returned, iff no payout
has a blank outcome. -/
theorem append_reload (rt : Runtime) (db : Db) (loaded : Loaded)
    (hload : loadLocked rt db = .ok loaded) :
    (∀ env allowed event db' result, event.Constructible rt →
      (appendEventsLocked rt env allowed [event]).Returns db result db' →
      ((∃ event', decodeEvent rt (encodeEvent rt event).payloadJson = .ok event' ∧ event' = event ∧
        encodeEvent rt event' = encodeEvent rt event) ↔ PayoutsNamed (payoutsOf event))) ∧
    ∀ batches db' results, (∀ batch ∈ batches, ∀ e ∈ batch.2, e.Constructible rt) →
      (appendBatches rt batches).Returns db results db' →
      ((∃ loaded', loadLocked rt db' = .ok loaded' ∧ loaded'.state = lastState loaded results) ↔
        ∀ batch ∈ batches, ∀ e ∈ batch.2, PayoutsNamed (payoutsOf e)) :=
  ⟨fun _ _ _ _ _ hc h => decode_of_appended hc h, fun _ _ _ hc h =>
    reload_of_appendBatches hload hc h⟩

namespace Sample

/-- One call with the first batch. -/
def firstCall (outcomeId : String) : List (Env × List LedgerEvent) :=
  [(.quiet "now", firstBatch outcomeId)]

theorem returns_firstCall {outcomeId : String}
    (h : (applyEvent digits openedState (resolvedTo outcomeId)).isOk = true) :
    (appendBatches digits (firstCall outcomeId)).Returns Db.empty [firstResult outcomeId]
      (firstDb outcomeId) :=
  Action.returns_mapM_cons.mpr ⟨_, _, [], returns_firstBatch h, rfl, rfl⟩

end Sample

theorem append_reload_firstBatch :
    ∃ loaded, loadLocked Sample.digits (Sample.firstDb "yes") = .ok loaded ∧
      loaded.state = (Sample.firstResult "yes").state :=
  ((append_reload Sample.digits Db.empty Sample.noEvents Sample.loadLocked_empty).2
    (Sample.firstCall "yes") (Sample.firstDb "yes") [Sample.firstResult "yes"]
    (List.forall_mem_singleton.mpr Sample.constructible_firstBatch)
    (Sample.returns_firstCall (by decide))).mpr
    (List.forall_mem_singleton.mpr (by decide))

/-- An accepted event with a blank outcome is not read back, and the ledger does not reopen. -/
theorem append_reload_blank_outcome :
    applyEvent Sample.digits Sample.openedState (Sample.resolvedTo " ") =
      .ok (Sample.resolvedState " ") ∧
    (appendBatches Sample.digits (Sample.firstCall " ")).Returns Db.empty [Sample.firstResult " "]
      (Sample.firstDb " ") ∧
    (∀ event', decodeEvent Sample.digits
      (encodeEvent Sample.digits (Sample.resolvedTo " ")).payloadJson ≠ .ok event') ∧
    ∀ loaded, loadLocked Sample.digits (Sample.firstDb " ") ≠ .ok loaded := by
  refine ⟨eq_ok_okOr (by decide) _, Sample.returns_firstCall (by decide), ?_,
    Sample.loadLocked_blank⟩
  intro event' hdecode
  have hc : (Sample.resolvedTo " ").Constructible Sample.digits := trivial
  have hreadable := ((decodeEvent_encodeEvent hc).mp hdecode).1
  exact absurd hreadable (by decide)

end WeatherBot.Persistence
