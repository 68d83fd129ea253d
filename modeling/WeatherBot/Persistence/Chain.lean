import WeatherBot.Common.HashChain
import WeatherBot.Ledger.Run
import WeatherBot.Persistence.RoundTrip
import WeatherBot.Persistence.Store

/-!
# What a ledger that loads looks like

A table passes `_load_locked` only if it is, column by column, what appending its
decoded events writes.

* `rowsFrom`: the rows that a list of events fills, with their hashes.
* `loadRow_eq_ok`, `rows_of_loaded`: the rows that the replay accepts.
* `LoadedFrom`: what is known about a ledger that loaded.
-/

namespace WeatherBot.Persistence

open WeatherBot.Common
open WeatherBot.Domain

variable (rt : Runtime)

/-! ## Rows of events -/

/-- The chain hash of an event. -/
def linkHash (previousHash : String) (event : LedgerEvent) : String :=
  chainHash rt previousHash (encodeEvent rt event).schemaVersion (encodeEvent rt event).eventType
    (encodeEvent rt event).payloadHash

/-- The rows of events that follow a sequence number and a chain hash. -/
def rowsFrom (sequence : ℤ) (previousHash : String) : List LedgerEvent → List EventRow
  | [] => []
  | e :: es =>
    eventRow rt (sequence + 1) previousHash e :: rowsFrom (sequence + 1) (linkHash rt previousHash e) es

/-- The payload of an event is read back as that event. -/
def ReadsBack (event : LedgerEvent) : Prop :=
  decodeEvent rt (encodeEvent rt event).payloadJson = .ok event

variable {rt}

theorem rowsFrom_append (events events' : List LedgerEvent) (sequence : ℤ) (previousHash : String) :
    rowsFrom rt sequence previousHash (events ++ events') =
      rowsFrom rt sequence previousHash events ++
        rowsFrom rt (sequence + events.length) (events.foldl (linkHash rt) previousHash) events' := by
  induction events generalizing sequence previousHash with
  | nil => simp [rowsFrom]
  | cons e events ih =>
    rw [List.cons_append, rowsFrom, ih, rowsFrom, List.cons_append, List.length_cons, List.foldl_cons]
    congr 3
    omega

@[simp] theorem length_rowsFrom (events : List LedgerEvent) (sequence : ℤ) (previousHash : String) :
    (rowsFrom rt sequence previousHash events).length = events.length := by
  induction events generalizing sequence previousHash with
  | nil => rfl
  | cons e events ih => rw [rowsFrom, List.length_cons, ih, List.length_cons]

/-- Every row is the row of an event of the list, and its sequence number is in range. -/
theorem mem_rowsFrom {events : List LedgerEvent} {sequence : ℤ} {previousHash : String} {row : EventRow}
    (h : row ∈ rowsFrom rt sequence previousHash events) :
    ∃ e ∈ events, ∃ previous, row = eventRow rt row.sequence previous e ∧
      sequence < row.sequence ∧ row.sequence ≤ sequence + events.length := by
  induction events generalizing sequence previousHash with
  | nil => cases h
  | cons e events ih =>
    rw [rowsFrom, List.mem_cons] at h
    rcases h with rfl | h
    · refine ⟨e, List.mem_cons_self, previousHash, rfl, ?_, ?_⟩
      · exact lt_add_one sequence
      · rw [List.length_cons]
        show sequence + 1 ≤ _
        omega
    · obtain ⟨e', he', previous, hrow, hlow, hhigh⟩ := ih h
      refine ⟨e', List.mem_cons_of_mem _ he', previous, hrow, ?_, ?_⟩
      · omega
      · rw [List.length_cons]
        omega

variable (rt) in
/-- Every event has a row. -/
theorem exists_row_of_mem {events : List LedgerEvent} {event : LedgerEvent} (h : event ∈ events)
    (sequence : ℤ) (previousHash : String) :
    ∃ row ∈ rowsFrom rt sequence previousHash events, row.eventId = .text event.eventId := by
  induction events generalizing sequence previousHash with
  | nil => cases h
  | cons e events ih =>
    rw [List.mem_cons] at h
    rcases h with rfl | h
    · exact ⟨_, List.mem_cons_self, rfl⟩
    · obtain ⟨row, hrow, hid⟩ := ih h (sequence + 1) (linkHash rt previousHash e)
      exact ⟨row, List.mem_cons_of_mem _ hrow, hid⟩

/-! ## One row of the replay -/

theorem rowText_eq_ok {value : SqlValue} {key text : String} :
    rowText value key = .ok text ↔ value = .text text := by
  cases value <;> simp [rowText]

theorem rowInt_eq_ok {value : SqlValue} {key : String} {n : ℤ} :
    rowInt value key = .ok n ↔ value = .integer n := by
  cases value <;> simp [rowInt]

theorem checkColumn_eq_ok {sequence : ℤ} {column : String} {actual : SqlValue}
    {expected : Option String} {u : Unit} :
    checkColumn sequence column actual expected = .ok u ↔ actual = .ofOption expected := by
  rw [checkColumn]
  cases actual <;> cases expected <;> simp [rowOptionalText, raiseIf_eq_ok, SqlValue.ofOption]

/-- The columns that the payload determines. -/
theorem checkColumns_eq_ok {row : EventRow} {encoded : EncodedEvent} {u : Unit} :
    checkColumns row encoded = .ok u ↔
      row.eventId = .text encoded.eventId ∧ row.eventType = .text encoded.eventType ∧
        row.eventSchemaVersion = .integer encoded.schemaVersion ∧
        row.occurredAt = .text encoded.occurredAt ∧
        row.intentId = .ofOption encoded.index.intentId ∧
        row.decisionId = .ofOption encoded.index.decisionId ∧
        row.marketId = .ofOption encoded.index.marketId ∧
        row.outcomeId = .ofOption encoded.index.outcomeId := by
  rw [checkColumns]
  simp only [check_bind_eq_ok, checkColumn_eq_ok, SqlValue.ofOption]
  constructor
  · rintro ⟨hid, htype, h⟩
    obtain ⟨version, hversion, h⟩ := bind_eq_ok.mp h
    obtain ⟨heq, h⟩ := raiseIf_bind_eq_ok.mp h
    simp only [check_bind_eq_ok, checkColumn_eq_ok, SqlValue.ofOption] at h
    rw [not_not] at heq
    exact ⟨hid, htype, heq ▸ rowInt_eq_ok.mp hversion, h⟩
  · rintro ⟨hid, htype, hversion, h⟩
    refine ⟨hid, htype, bind_eq_ok.mpr ⟨_, rowInt_eq_ok.mpr hversion, ?_⟩⟩
    refine raiseIf_bind_eq_ok.mpr ⟨not_not.mpr rfl, ?_⟩
    simp only [check_bind_eq_ok, checkColumn_eq_ok, SqlValue.ofOption]
    exact h

/-- A checkpoint has the hashes of the replay at its sequence. -/
theorem checkCheckpoint_eq_ok {checkpoint : Option StateCheckpoint} {sequence : ℤ}
    {chainHash : String} {state : LedgerState} {u : Unit} :
    checkCheckpoint rt checkpoint sequence chainHash state = .ok u ↔
      ∀ c ∈ checkpoint, c.chainHash = chainHash ∧ c.stateHash = stateFingerprint rt state := by
  cases checkpoint with
  | none => simp [checkCheckpoint]
  | some c => simp [checkCheckpoint, raiseIf_bind_eq_ok, raiseIf_eq_ok]

/-- **The replay accepts a row iff it is the row of an event** that is read back, that the reducers
accept, and that agrees with the checkpoint at its place. -/
theorem loadRow_eq_ok {checkpoints : List StateCheckpoint} {acc acc' : Loaded} {row : EventRow} :
    loadRow rt checkpoints acc row = .ok acc' ↔
      ∃ event state, row = eventRow rt (acc.lastSequence + 1) acc.chainHash event ∧
        ReadsBack rt event ∧ applyEvent rt acc.state event = .ok state ∧
        (∀ c ∈ checkpointAt checkpoints (acc.lastSequence + 1),
          c.chainHash = linkHash rt acc.chainHash event ∧ c.stateHash = stateFingerprint rt state) ∧
        acc' = ⟨acc.events ++ [event], state, acc.lastSequence + 1,
          linkHash rt acc.chainHash event⟩ := by
  constructor
  · intro h
    obtain ⟨hsequence, h⟩ := raiseIf_bind_eq_ok.mp h
    obtain ⟨payload, hpayload, h⟩ := bind_eq_ok.mp h
    obtain ⟨payloadHash, hpayloadHash, h⟩ := bind_eq_ok.mp h
    obtain ⟨hsha, h⟩ := raiseIf_bind_eq_ok.mp h
    obtain ⟨previous, hprevious, h⟩ := bind_eq_ok.mp h
    obtain ⟨hlink, h⟩ := raiseIf_bind_eq_ok.mp h
    obtain ⟨eventType, htype, h⟩ := bind_eq_ok.mp h
    obtain ⟨version, hversion, h⟩ := bind_eq_ok.mp h
    obtain ⟨stored, hstored, h⟩ := bind_eq_ok.mp h
    obtain ⟨hchain, h⟩ := raiseIf_bind_eq_ok.mp h
    obtain ⟨event, hdecode, h⟩ := bind_eq_ok.mp h
    obtain ⟨hcanonical, h⟩ := raiseIf_bind_eq_ok.mp h
    obtain ⟨hcolumns, h⟩ := check_bind_eq_ok.mp h
    obtain ⟨state, hstate, h⟩ := bind_eq_ok.mp h
    obtain ⟨hcheckpoint, h⟩ := check_bind_eq_ok.mp h
    cases h
    rw [not_not] at hsequence hsha hlink hchain hcanonical
    rw [rowText_eq_ok] at hpayload hpayloadHash hprevious htype hstored
    rw [rowInt_eq_ok] at hversion
    rw [asCorrupt_eq_ok] at hdecode hstate
    rw [checkColumns_eq_ok] at hcolumns
    obtain ⟨hid, htype', hversion', hoccurred, hintent, hdecision, hmarket, houtcome⟩ := hcolumns
    rw [htype, SqlValue.text.injEq] at htype'
    rw [hversion, SqlValue.integer.injEq] at hversion'
    subst hcanonical hsha hlink htype' hversion' hchain
    rw [checkCheckpoint_eq_ok, hsequence] at hcheckpoint
    refine ⟨event, state, ?_, hdecode, hstate, hcheckpoint, ?_⟩
    · cases row
      simp only at *
      subst hsequence hpayload hpayloadHash hprevious htype hstored hversion hid hoccurred hintent
        hdecision hmarket houtcome
      rfl
    · rw [hsequence]
      rfl
  · rintro ⟨event, state, rfl, hdecode, hstate, hcheckpoint, rfl⟩
    refine raiseIf_bind_eq_ok.mpr ⟨not_not.mpr rfl, ?_⟩
    refine bind_eq_ok.mpr ⟨_, rowText_eq_ok.mpr rfl, bind_eq_ok.mpr ⟨_, rowText_eq_ok.mpr rfl, ?_⟩⟩
    refine raiseIf_bind_eq_ok.mpr ⟨not_not.mpr rfl, ?_⟩
    refine bind_eq_ok.mpr ⟨_, rowText_eq_ok.mpr rfl, ?_⟩
    refine raiseIf_bind_eq_ok.mpr ⟨not_not.mpr rfl, ?_⟩
    refine bind_eq_ok.mpr ⟨_, rowText_eq_ok.mpr rfl, bind_eq_ok.mpr ⟨_, rowInt_eq_ok.mpr rfl, ?_⟩⟩
    refine bind_eq_ok.mpr ⟨_, rowText_eq_ok.mpr rfl, ?_⟩
    refine raiseIf_bind_eq_ok.mpr ⟨not_not.mpr rfl, ?_⟩
    refine bind_eq_ok.mpr ⟨event, asCorrupt_eq_ok.mpr hdecode, ?_⟩
    refine raiseIf_bind_eq_ok.mpr ⟨not_not.mpr rfl, check_bind_eq_ok.mpr ⟨?_, ?_⟩⟩
    · exact checkColumns_eq_ok.mpr ⟨rfl, rfl, rfl, rfl, rfl, rfl, rfl, rfl⟩
    · refine bind_eq_ok.mpr ⟨state, asCorrupt_eq_ok.mpr hstate, check_bind_eq_ok.mpr ⟨?_, rfl⟩⟩
      exact checkCheckpoint_eq_ok.mpr hcheckpoint

/-! ## The whole replay -/

/-- A ledger that loads holds the rows of its events, which replay to its state. -/
structure LoadedFrom (rt : Runtime) (rows : List EventRow) (start loaded : Loaded)
    (events : List LedgerEvent) : Prop where
  events_eq : loaded.events = start.events ++ events
  rows_eq : rows = rowsFrom rt start.lastSequence start.chainHash events
  readsBack : ∀ e ∈ events, ReadsBack rt e
  state : applyEvents rt start.state events = .ok loaded.state
  lastSequence : loaded.lastSequence = start.lastSequence + events.length
  chainHash : loaded.chainHash = events.foldl (linkHash rt) start.chainHash

theorem loadedFrom_of_foldlM {checkpoints : List StateCheckpoint} {rows : List EventRow}
    {start loaded : Loaded} (h : rows.foldlM (loadRow rt checkpoints) start = .ok loaded) :
    ∃ events, LoadedFrom rt rows start loaded events := by
  induction rows generalizing start with
  | nil =>
    cases h
    exact ⟨[], (List.append_nil _).symm, rfl, by simp, rfl, by simp, rfl⟩
  | cons row rows ih =>
    obtain ⟨mid, hrow, h⟩ := foldlM_cons_eq_ok.mp h
    obtain ⟨event, state, rfl, hreads, hstate, -, rfl⟩ := loadRow_eq_ok.mp hrow
    obtain ⟨events, hrest⟩ := ih h
    refine ⟨event :: events, ?_, ?_, ?_, ?_, ?_, ?_⟩
    · rw [hrest.events_eq, List.append_assoc, List.singleton_append]
    · rw [hrest.rows_eq, rowsFrom]
    · exact List.forall_mem_cons.mpr ⟨hreads, hrest.readsBack⟩
    · exact foldlM_cons_eq_ok.mpr ⟨state, hstate, hrest.state⟩
    · rw [hrest.lastSequence, List.length_cons]
      push_cast
      ring
    · rw [hrest.chainHash, List.foldl_cons]

variable (rt) in
/-- The accumulators before the first row. -/
def Loaded.start : Loaded := ⟨[], .fresh (rt.upper.normalize "USDC"), 0, genesisChainHash⟩

/-- `_load_locked` in one line. -/
theorem loadLocked_eq_ok {db : Db} {loaded : Loaded} :
    loadLocked rt db = .ok loaded ↔ ∃ checkpoints, checkpointRowsLocked db = .ok checkpoints ∧
      rt.upper.normalize "USDC" ≠ "" ∧
      db.ledgerEvents.foldlM (loadRow rt checkpoints) (.start rt) = .ok loaded ∧
      ∀ c ∈ checkpoints, c.sequence ≤ loaded.lastSequence := by
  constructor
  · intro h
    obtain ⟨checkpoints, hcheckpoints, h⟩ := bind_eq_ok.mp h
    obtain ⟨state, hstate, h⟩ := bind_eq_ok.mp h
    obtain ⟨hcurrency, hstate⟩ := raiseIf_bind_eq_ok.mp hstate
    cases hstate
    obtain ⟨loaded', hrows, h⟩ := bind_eq_ok.mp h
    obtain ⟨horphan, h⟩ := raiseIf_bind_eq_ok.mp h
    cases h
    refine ⟨checkpoints, hcheckpoints, hcurrency, hrows, ?_⟩
    intro c hc
    by_contra hlt
    exact horphan ⟨c, hc, not_le.mp hlt⟩
  · rintro ⟨checkpoints, hcheckpoints, hcurrency, hrows, horphan⟩
    refine bind_eq_ok.mpr ⟨checkpoints, hcheckpoints, ?_⟩
    refine bind_eq_ok.mpr ⟨_, raiseIf_bind_eq_ok.mpr ⟨hcurrency, rfl⟩, ?_⟩
    refine bind_eq_ok.mpr ⟨loaded, hrows, raiseIf_bind_eq_ok.mpr ⟨?_, rfl⟩⟩
    rintro ⟨c, hc, hlt⟩
    exact absurd (horphan c hc) (not_le.mpr hlt)

/-- **A table that loads holds the rows of its events**, and its state is their replay. -/
theorem loadedFrom_of_loadLocked {db : Db} {loaded : Loaded} (h : loadLocked rt db = .ok loaded) :
    LoadedFrom rt db.ledgerEvents (.start rt) loaded loaded.events := by
  obtain ⟨checkpoints, -, -, hrows, -⟩ := loadLocked_eq_ok.mp h
  obtain ⟨events, hfrom⟩ := loadedFrom_of_foldlM hrows
  have hevents : loaded.events = events := hfrom.events_eq
  rwa [hevents]

/-- The checks of the reducers hold of a state that loads. -/
theorem invariants_of_loadLocked {db : Db} {loaded : Loaded} (h : loadLocked rt db = .ok loaded) :
    loaded.state.Invariants :=
  Ledger.applyEvents_invariants (Ledger.invariants_fresh _) (loadedFrom_of_loadLocked h).state

end WeatherBot.Persistence
